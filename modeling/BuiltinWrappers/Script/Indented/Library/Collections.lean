/-!
# Collections

Values that hold others, and ways to run through them.
-/

namespace BuiltinWrappers.Script.Indented.Library

/-- Iterators made of others. -/
def iteration : String := r#"
  |import operator as _operator
  |
  |class _Iterator:
  |    def __iter__(self):
  |        return self
  |
  |class count(_Iterator):
  |    def __init__(self, start=0, step=1):
  |        self._next = start
  |        self._step = step
  |    def __next__(self):
  |        value = self._next
  |        self._next = value + self._step
  |        return value
  |    def __repr__(self):
  |        if self._step == 1:
  |            return 'count(%r)' % (self._next,)
  |        return 'count(%r, %r)' % (self._next, self._step)
  |
  |def cycle(iterable):
  |    saved = []
  |    for element in iterable:
  |        yield element
  |        saved.append(element)
  |    while saved:
  |        for element in saved:
  |            yield element
  |
  |def repeat(object, times=None):
  |    if times is None:
  |        while True:
  |            yield object
  |    else:
  |        for i in range(times):
  |            yield object
  |
  |def accumulate(iterable, func=None, *, initial=None):
  |    if func is None:
  |        func = _operator.add
  |    it = iter(iterable)
  |    total = initial
  |    if initial is None:
  |        try:
  |            total = next(it)
  |        except StopIteration:
  |            return
  |    yield total
  |    for element in it:
  |        total = func(total, element)
  |        yield total
  |
  |class chain(_Iterator):
  |    def __init__(self, *iterables):
  |        self._run = self._all(iterables)
  |    @staticmethod
  |    def _all(iterables):
  |        for it in iterables:
  |            for element in it:
  |                yield element
  |    @classmethod
  |    def from_iterable(cls, iterables):
  |        found = cls()
  |        found._run = cls._all(iterables)
  |        return found
  |    def __next__(self):
  |        return next(self._run)
  |
  |def compress(data, selectors):
  |    return (d for d, s in zip(data, selectors) if s)
  |
  |def dropwhile(predicate, iterable):
  |    it = iter(iterable)
  |    for x in it:
  |        if not predicate(x):
  |            yield x
  |            break
  |    for x in it:
  |        yield x
  |
  |def takewhile(predicate, iterable):
  |    for x in iterable:
  |        if predicate(x):
  |            yield x
  |        else:
  |            break
  |
  |def filterfalse(predicate, iterable):
  |    if predicate is None:
  |        predicate = bool
  |    for x in iterable:
  |        if not predicate(x):
  |            yield x
  |
  |class groupby(_Iterator):
  |    def __init__(self, iterable, key=None):
  |        self._key = key if key is not None else lambda x: x
  |        self._it = iter(iterable)
  |        self._target = self._current = self._value = object()
  |        self._id = None
  |    def __next__(self):
  |        self._id = object()
  |        while self._current == self._target:
  |            self._value = next(self._it)
  |            self._current = self._key(self._value)
  |        self._target = self._current
  |        return (self._current, self._group(self._target, self._id))
  |    def _group(self, target, id):
  |        while self._id is id and self._current == target:
  |            yield self._value
  |            try:
  |                self._value = next(self._it)
  |            except StopIteration:
  |                self._id = None
  |                return
  |            self._current = self._key(self._value)
  |
  |def islice(iterable, *args):
  |    s = slice(*args)
  |    start = 0 if s.start is None else s.start
  |    stop = s.stop
  |    step = 1 if s.step is None else s.step
  |    if start < 0 or step < 1 or (stop is not None and stop < 0):
  |        raise ValueError('Indices for islice() must be None or an integer: '
  |                         '0 <= x <= sys.maxsize.')
  |    return _islice(iter(iterable), start, stop, step)
  |
  |def _islice(it, start, stop, step):
  |    place = 0
  |    wanted = start
  |    while stop is None or wanted < stop:
  |        for element in it:
  |            place += 1
  |            if place > wanted:
  |                yield element
  |                wanted += step
  |                break
  |        else:
  |            return
  |    while place < start:
  |        if next(it, it) is it:
  |            return
  |        place += 1
  |
  |def pairwise(iterable):
  |    it = iter(iterable)
  |    before = next(it, it)
  |    if before is it:
  |        return
  |    for element in it:
  |        yield before, element
  |        before = element
  |
  |def starmap(function, iterable):
  |    for args in iterable:
  |        yield function(*args)
  |
  |def tee(iterable, n=2):
  |    it = iter(iterable)
  |    shared = []
  |    def run():
  |        place = 0
  |        while True:
  |            if place == len(shared):
  |                try:
  |                    shared.append(next(it))
  |                except StopIteration:
  |                    return
  |            yield shared[place]
  |            place += 1
  |    return tuple(run() for i in range(n))
  |
  |def zip_longest(*args, fillvalue=None):
  |    its = [iter(it) for it in args]
  |    active = len(its)
  |    if not active:
  |        return
  |    ended = [False] * active
  |    while True:
  |        values = []
  |        for i, it in enumerate(its):
  |            if ended[i]:
  |                values.append(fillvalue)
  |                continue
  |            try:
  |                value = next(it)
  |            except StopIteration:
  |                active -= 1
  |                if not active:
  |                    return
  |                ended[i] = True
  |                value = fillvalue
  |            values.append(value)
  |        yield tuple(values)
  |
  |def product(*args, repeat=1):
  |    pools = [tuple(pool) for pool in args] * repeat
  |    found = [()]
  |    for pool in pools:
  |        found = [x + (y,) for x in found for y in pool]
  |    return iter(found)
  |
  |def permutations(iterable, r=None):
  |    pool = tuple(iterable)
  |    n = len(pool)
  |    r = n if r is None else r
  |    if r > n:
  |        return
  |    indices = list(range(n))
  |    cycles = list(range(n, n - r, -1))
  |    yield tuple(pool[i] for i in indices[:r])
  |    while n:
  |        for i in reversed(range(r)):
  |            cycles[i] -= 1
  |            if cycles[i] == 0:
  |                indices[i:] = indices[i + 1:] + indices[i:i + 1]
  |                cycles[i] = n - i
  |            else:
  |                j = cycles[i]
  |                indices[i], indices[-j] = indices[-j], indices[i]
  |                yield tuple(pool[i] for i in indices[:r])
  |                break
  |        else:
  |            return
  |
  |def combinations(iterable, r):
  |    pool = tuple(iterable)
  |    n = len(pool)
  |    if r > n:
  |        return
  |    indices = list(range(r))
  |    yield tuple(pool[i] for i in indices)
  |    while True:
  |        for i in reversed(range(r)):
  |            if indices[i] != i + n - r:
  |                break
  |        else:
  |            return
  |        indices[i] += 1
  |        for j in range(i + 1, r):
  |            indices[j] = indices[j - 1] + 1
  |        yield tuple(pool[i] for i in indices)
  |
  |def combinations_with_replacement(iterable, r):
  |    pool = tuple(iterable)
  |    n = len(pool)
  |    if not n and r:
  |        return
  |    indices = [0] * r
  |    yield tuple(pool[i] for i in indices)
  |    while True:
  |        for i in reversed(range(r)):
  |            if indices[i] != n - 1:
  |                break
  |        else:
  |            return
  |        indices[i:] = [indices[i] + 1] * (r - i)
  |        yield tuple(pool[i] for i in indices)"#

/-- Functions made of others. -/
def functions : String := r#"
  |WRAPPER_ASSIGNMENTS = ('__module__', '__name__', '__qualname__', '__doc__', '__annotations__')
  |WRAPPER_UPDATES = ('__dict__',)
  |
  |def update_wrapper(wrapper, wrapped, assigned=WRAPPER_ASSIGNMENTS, updated=WRAPPER_UPDATES):
  |    for name in assigned:
  |        try:
  |            value = getattr(wrapped, name)
  |        except AttributeError:
  |            continue
  |        setattr(wrapper, name, value)
  |    for name in updated:
  |        for key, value in getattr(wrapped, name, dict()).items():
  |            setattr(wrapper, key, value)
  |    wrapper.__wrapped__ = wrapped
  |    return wrapper
  |
  |def wraps(wrapped, assigned=WRAPPER_ASSIGNMENTS, updated=WRAPPER_UPDATES):
  |    return lambda wrapper: update_wrapper(wrapper, wrapped, assigned, updated)
  |
  |_missing = object()
  |
  |def reduce(function, sequence, initial=_missing):
  |    it = iter(sequence)
  |    if initial is _missing:
  |        try:
  |            value = next(it)
  |        except StopIteration:
  |            raise TypeError('reduce() of empty iterable with no initial value') from None
  |    else:
  |        value = initial
  |    for element in it:
  |        value = function(value, element)
  |    return value
  |
  |class partial:
  |    def __init__(self, func, *args, **keywords):
  |        if not callable(func):
  |            raise TypeError('the first argument must be callable')
  |        if isinstance(func, partial):
  |            args = func.args + args
  |            keywords = dict(func.keywords, **keywords)
  |            func = func.func
  |        self.func = func
  |        self.args = args
  |        self.keywords = keywords
  |    def __call__(self, *args, **keywords):
  |        return self.func(*self.args, *args, **dict(self.keywords, **keywords))
  |    def __repr__(self):
  |        parts = [repr(self.func)]
  |        parts.extend(repr(x) for x in self.args)
  |        parts.extend('%s=%r' % pair for pair in self.keywords.items())
  |        return 'functools.partial(' + ', '.join(parts) + ')'
  |
  |class partialmethod:
  |    def __init__(self, func, *args, **keywords):
  |        self.func = func
  |        self.args = args
  |        self.keywords = keywords
  |    def __get__(self, obj, cls=None):
  |        func = self.func
  |        if hasattr(func, '__get__') and not isinstance(func, type(print)):
  |            func = func.__get__(obj, cls)
  |            return partial(func, *self.args, **self.keywords)
  |        return partial(func, obj, *self.args, **self.keywords)
  |
  |class _Info(tuple):
  |    hits = property(lambda self: self[0])
  |    misses = property(lambda self: self[1])
  |    maxsize = property(lambda self: self[2])
  |    currsize = property(lambda self: self[3])
  |    def __repr__(self):
  |        return 'CacheInfo(hits=%r, misses=%r, maxsize=%r, currsize=%r)' % tuple(self)
  |
  |def _key(args, kwds, typed):
  |    key = args
  |    if kwds:
  |        key += (_missing,) + tuple(x for pair in kwds.items() for x in pair)
  |    if typed:
  |        key += tuple(type(v) for v in args)
  |    return key
  |
  |def lru_cache(maxsize=128, typed=False):
  |    if callable(maxsize):
  |        return lru_cache(128, typed)(maxsize)
  |    def decorate(function):
  |        cache = dict()
  |        facts = [0, 0]
  |        def wrapper(*args, **kwds):
  |            key = _key(args, kwds, typed)
  |            if key in cache:
  |                facts[0] += 1
  |                value = cache.pop(key)
  |                cache[key] = value
  |                return value
  |            facts[1] += 1
  |            value = function(*args, **kwds)
  |            if maxsize is None or maxsize > 0:
  |                if maxsize is not None and len(cache) >= maxsize:
  |                    del cache[next(iter(cache))]
  |                cache[key] = value
  |            return value
  |        def clear():
  |            cache.clear()
  |            facts[:] = [0, 0]
  |        wrapper.cache_info = lambda: _Info((facts[0], facts[1], maxsize, len(cache)))
  |        wrapper.cache_clear = clear
  |        wrapper.cache_parameters = lambda: dict(maxsize=maxsize, typed=typed)
  |        return update_wrapper(wrapper, function)
  |    return decorate
  |
  |def cache(function):
  |    return lru_cache(None)(function)
  |
  |class cached_property:
  |    def __init__(self, func):
  |        self.func = func
  |        self.attrname = None
  |        self.__doc__ = func.__doc__
  |    def __set_name__(self, owner, name):
  |        self.attrname = name
  |    def __get__(self, instance, owner=None):
  |        if instance is None:
  |            return self
  |        value = self.func(instance)
  |        instance.__dict__[self.attrname] = value
  |        return value
  |
  |def cmp_to_key(mycmp):
  |    class K:
  |        def __init__(self, obj):
  |            self.obj = obj
  |        def __lt__(self, other):
  |            return mycmp(self.obj, other.obj) < 0
  |        def __gt__(self, other):
  |            return mycmp(self.obj, other.obj) > 0
  |        def __eq__(self, other):
  |            return mycmp(self.obj, other.obj) == 0
  |        def __le__(self, other):
  |            return mycmp(self.obj, other.obj) <= 0
  |        def __ge__(self, other):
  |            return mycmp(self.obj, other.obj) >= 0
  |        __hash__ = None
  |    return K
  |
  |def total_ordering(cls):
  |    names = [n for n in ('__lt__', '__le__', '__gt__', '__ge__')
  |             if any(n in vars(k) for k in cls.__mro__[:-1])]
  |    if not names:
  |        raise ValueError('must define at least one ordering operation: < > <= >=')
  |    root = names[0]
  |    def ask(self, other):
  |        return getattr(type(self), root)(self, other)
  |    def less(self, other):
  |        found = ask(self, other)
  |        if found is NotImplemented:
  |            return found
  |        if root == '__lt__':
  |            return found
  |        if root == '__le__':
  |            return found and self != other
  |        if root == '__gt__':
  |            return not found and self != other
  |        return not found
  |    def equal_or(compare):
  |        def method(self, other):
  |            found = less(self, other)
  |            return found if found is NotImplemented else compare(self, other, found)
  |        return method
  |    made = dict(__lt__=less,
  |                __le__=equal_or(lambda a, b, l: l or a == b),
  |                __gt__=equal_or(lambda a, b, l: not l and a != b),
  |                __ge__=equal_or(lambda a, b, l: not l))
  |    for name, function in made.items():
  |        if name not in names:
  |            setattr(cls, name, function)
  |    return cls
  |
  |def singledispatch(func):
  |    registry = dict()
  |    registry[object] = func
  |    def dispatch(cls):
  |        for kind in cls.__mro__:
  |            if kind in registry:
  |                return registry[kind]
  |        for kind in registry:
  |            if kind is not object and issubclass(cls, kind):
  |                return registry[kind]
  |        return func
  |    def register(cls, function=None):
  |        if function is None:
  |            if isinstance(cls, type):
  |                return lambda f: register(cls, f)
  |            function = cls
  |            cls = next(iter(function.__annotations__.values()))
  |        registry[cls] = function
  |        return function
  |    def wrapper(*args, **kw):
  |        return dispatch(type(args[0]))(*args, **kw)
  |    wrapper.register = register
  |    wrapper.dispatch = dispatch
  |    wrapper.registry = registry
  |    return update_wrapper(wrapper, func)
  |
  |class singledispatchmethod:
  |    def __init__(self, func):
  |        self.dispatcher = singledispatch(func)
  |        self.func = func
  |    def register(self, cls, method=None):
  |        return self.dispatcher.register(cls, method)
  |    def __get__(self, obj, cls=None):
  |        def method(*args, **kwargs):
  |            found = self.dispatcher.dispatch(type(args[0]))
  |            return found(obj, *args, **kwargs)
  |        return method"#

/-- Signs as functions. -/
def signs : String := r#"
  |def lt(a, b): return a < b
  |def le(a, b): return a <= b
  |def eq(a, b): return a == b
  |def ne(a, b): return a != b
  |def ge(a, b): return a >= b
  |def gt(a, b): return a > b
  |def not_(a): return not a
  |def truth(a): return True if a else False
  |def is_(a, b): return a is b
  |def is_not(a, b): return a is not b
  |def add(a, b): return a + b
  |def and_(a, b): return a & b
  |def floordiv(a, b): return a // b
  |def index(a): return a.__index__()
  |def inv(a): return ~a
  |invert = inv
  |def lshift(a, b): return a << b
  |def mod(a, b): return a % b
  |def mul(a, b): return a * b
  |def matmul(a, b): return a @ b
  |def neg(a): return -a
  |def or_(a, b): return a | b
  |def pos(a): return +a
  |def rshift(a, b): return a >> b
  |def sub(a, b): return a - b
  |def truediv(a, b): return a / b
  |def xor(a, b): return a ^ b
  |def concat(a, b): return a + b
  |def contains(a, b): return b in a
  |def countOf(a, b): return sum(1 for x in a if x is b or x == b)
  |def delitem(a, b): del a[b]
  |def getitem(a, b): return a[b]
  |def setitem(a, b, c): a[b] = c
  |def length_hint(obj, default=0): return len(obj) if hasattr(obj, '__len__') else default
  |_abs = abs
  |_pow = pow
  |def abs(a): return _abs(a)
  |def pow(a, b): return a ** b
  |def call(obj, *args, **kwargs): return obj(*args, **kwargs)
  |def iadd(a, b):
  |    a += b
  |    return a
  |def isub(a, b):
  |    a -= b
  |    return a
  |def imul(a, b):
  |    a *= b
  |    return a
  |def ior(a, b):
  |    a |= b
  |    return a
  |def iand(a, b):
  |    a &= b
  |    return a
  |def iconcat(a, b):
  |    a += b
  |    return a
  |def indexOf(a, b):
  |    for i, j in enumerate(a):
  |        if j is b or j == b:
  |            return i
  |    raise ValueError('sequence.index(x): x not in sequence')
  |
  |class attrgetter:
  |    def __init__(self, attr, *attrs):
  |        self._attrs = (attr,) + attrs
  |    def _get(self, obj, attr):
  |        for name in attr.split('.'):
  |            obj = getattr(obj, name)
  |        return obj
  |    def __call__(self, obj):
  |        if len(self._attrs) == 1:
  |            return self._get(obj, self._attrs[0])
  |        return tuple(self._get(obj, attr) for attr in self._attrs)
  |    def __repr__(self):
  |        return 'operator.attrgetter(' + ', '.join(map(repr, self._attrs)) + ')'
  |
  |class itemgetter:
  |    def __init__(self, item, *items):
  |        self._items = (item,) + items
  |    def __call__(self, obj):
  |        if len(self._items) == 1:
  |            return obj[self._items[0]]
  |        return tuple(obj[i] for i in self._items)
  |    def __repr__(self):
  |        return 'operator.itemgetter(' + ', '.join(map(repr, self._items)) + ')'
  |
  |class methodcaller:
  |    def __init__(self, name, *args, **kwargs):
  |        self._name = name
  |        self._args = args
  |        self._kwargs = kwargs
  |    def __call__(self, obj):
  |        return getattr(obj, self._name)(*self._args, **self._kwargs)"#

/-- Counters, queues, chains and named tuples. -/
def collections : String := r#"
  |import sys as _sys
  |import itertools as _itertools
  |import heapq as _heapq
  |from keyword import iskeyword as _iskeyword
  |
  |def namedtuple(typename, field_names, *, rename=False, defaults=None, module=None):
  |    if isinstance(field_names, str):
  |        field_names = field_names.replace(',', ' ').split()
  |    field_names = list(map(str, field_names))
  |    seen = set()
  |    for index, name in enumerate(field_names):
  |        if rename and (not name.isidentifier() or _iskeyword(name) or name.startswith('_')
  |                       or name in seen):
  |            field_names[index] = '_%d' % index
  |        seen.add(name)
  |    for name in [typename] + field_names:
  |        if not name.isidentifier():
  |            raise ValueError('Type names and field names must be valid identifiers: %r' % name)
  |        if _iskeyword(name):
  |            raise ValueError('Type names and field names cannot be a keyword: %r' % name)
  |    seen = set()
  |    for name in field_names:
  |        if name.startswith('_') and not rename:
  |            raise ValueError('Field names cannot start with an underscore: %r' % name)
  |        if name in seen:
  |            raise ValueError('Encountered duplicate field name: %r' % name)
  |        seen.add(name)
  |    fields = tuple(field_names)
  |    usual = dict()
  |    if defaults is not None:
  |        defaults = tuple(defaults)
  |        if len(defaults) > len(fields):
  |            raise TypeError('Got more default values than field names')
  |        usual = dict(zip(fields[len(fields) - len(defaults):], defaults))
  |    count = len(fields)
  |
  |    def __new__(cls, *args, **kwargs):
  |        if len(args) > count:
  |            raise TypeError('%s.__new__() takes %d positional arguments but %d were given'
  |                            % (typename, count + 1, len(args) + 1))
  |        values = list(args)
  |        missing = []
  |        for name in fields[len(args):]:
  |            if name in kwargs:
  |                values.append(kwargs.pop(name))
  |            elif name in usual:
  |                values.append(usual[name])
  |            else:
  |                missing.append(name)
  |        if kwargs:
  |            name = next(iter(kwargs))
  |            if name in fields:
  |                raise TypeError("%s.__new__() got multiple values for argument '%s'"
  |                                % (typename, name))
  |            raise TypeError("%s.__new__() got an unexpected keyword argument '%s'"
  |                            % (typename, name))
  |        if missing:
  |            shown = ["'%s'" % name for name in missing]
  |            if len(shown) > 2:
  |                shown = ', '.join(shown[:-1]) + ', and ' + shown[-1]
  |            else:
  |                shown = ' and '.join(shown)
  |            raise TypeError('%s.__new__() missing %d required positional argument%s: %s'
  |                            % (typename, len(missing), 's' if len(missing) > 1 else '', shown))
  |        return tuple.__new__(cls, values)
  |
  |    def _make(cls, iterable):
  |        values = tuple(iterable)
  |        if len(values) != count:
  |            raise TypeError('Expected %d arguments, got %d' % (count, len(values)))
  |        return tuple.__new__(cls, values)
  |
  |    def _replace(self, **kwds):
  |        found = self._make(kwds.pop(name, value) for name, value in zip(fields, self))
  |        if kwds:
  |            raise ValueError('Got unexpected field names: %r' % list(kwds))
  |        return found
  |
  |    def _asdict(self):
  |        return dict(zip(fields, self))
  |
  |    def __repr__(self):
  |        pairs = ['%s=%r' % pair for pair in zip(fields, self)]
  |        return type(self).__name__ + '(' + ', '.join(pairs) + ')'
  |
  |    def __getnewargs__(self):
  |        return tuple(self)
  |
  |    names = dict(__doc__='%s(%s)' % (typename, ', '.join(fields)), __slots__=(),
  |                 _fields=fields, _field_defaults=usual, __new__=__new__,
  |                 _make=classmethod(_make), _replace=_replace, _asdict=_asdict,
  |                 __repr__=__repr__, __getnewargs__=__getnewargs__, __match_args__=fields)
  |    def field(index):
  |        return property(lambda self: self[index])
  |    for index, name in enumerate(fields):
  |        names[name] = field(index)
  |    return type(typename, (tuple,), names)
  |
  |class OrderedDict(dict):
  |    def popitem(self, last=True):
  |        if not self:
  |            raise KeyError('dictionary is empty')
  |        key = next(reversed(self)) if last else next(iter(self))
  |        return key, self.pop(key)
  |    def move_to_end(self, key, last=True):
  |        value = self.pop(key)
  |        if last:
  |            self[key] = value
  |        else:
  |            rest = list(self.items())
  |            self.clear()
  |            self[key] = value
  |            for k, v in rest:
  |                self[k] = v
  |    def __reversed__(self):
  |        return reversed(list(self.keys()))
  |    def __repr__(self):
  |        if not self:
  |            return type(self).__name__ + '()'
  |        return '%s(%r)' % (type(self).__name__, list(self.items()))
  |    def __eq__(self, other):
  |        if isinstance(other, OrderedDict):
  |            return list(self.items()) == list(other.items())
  |        return dict.__eq__(self, other)
  |    def copy(self):
  |        return type(self)(self)
  |    @classmethod
  |    def fromkeys(cls, iterable, value=None):
  |        found = cls()
  |        for key in iterable:
  |            found[key] = value
  |        return found
  |
  |class defaultdict(dict):
  |    def __init__(self, default_factory=None, *args, **kwargs):
  |        if default_factory is not None and not callable(default_factory):
  |            raise TypeError('first argument must be callable or None')
  |        dict.__init__(self, *args, **kwargs)
  |        self.default_factory = default_factory
  |    def __missing__(self, key):
  |        if self.default_factory is None:
  |            raise KeyError(key)
  |        value = self.default_factory()
  |        self[key] = value
  |        return value
  |    def __repr__(self):
  |        return 'defaultdict(%r, %s)' % (self.default_factory, dict.__repr__(self))
  |    def copy(self):
  |        return type(self)(self.default_factory, self)
  |    __copy__ = copy
  |
  |class Counter(dict):
  |    def __init__(self, iterable=None, **kwds):
  |        dict.__init__(self)
  |        self.update(iterable, **kwds)
  |    def __missing__(self, key):
  |        return 0
  |    def total(self):
  |        return sum(self.values())
  |    def most_common(self, n=None):
  |        found = sorted(self.items(), key=lambda pair: pair[1], reverse=True)
  |        return found if n is None else found[:n]
  |    def elements(self):
  |        for key, count in self.items():
  |            for i in range(count):
  |                yield key
  |    def _each(self, iterable, kwds):
  |        if iterable is not None:
  |            if hasattr(iterable, 'items'):
  |                for key, count in iterable.items():
  |                    yield key, count
  |            else:
  |                for key in iterable:
  |                    yield key, 1
  |        for key, count in kwds.items():
  |            yield key, count
  |    def update(self, iterable=None, **kwds):
  |        for key, count in self._each(iterable, kwds):
  |            self[key] = self.get(key, 0) + count
  |    def subtract(self, iterable=None, **kwds):
  |        for key, count in self._each(iterable, kwds):
  |            self[key] = self.get(key, 0) - count
  |    def copy(self):
  |        return type(self)(self)
  |    def __delitem__(self, key):
  |        if key in self:
  |            dict.__delitem__(self, key)
  |    def __repr__(self):
  |        if not self:
  |            return type(self).__name__ + '()'
  |        shown = dict(self.most_common())
  |        return type(self).__name__ + '(' + repr(shown) + ')'
  |    def _combined(self, other, combine):
  |        found = type(self)()
  |        for key in list(self) + [k for k in other if k not in self]:
  |            count = combine(self[key], other[key])
  |            if count > 0:
  |                found[key] = count
  |        return found
  |    def __add__(self, other):
  |        return self._combined(other, lambda a, b: a + b)
  |    def __sub__(self, other):
  |        return self._combined(other, lambda a, b: a - b)
  |    def __or__(self, other):
  |        return self._combined(other, max)
  |    def __and__(self, other):
  |        return self._combined(other, min)
  |    def __pos__(self):
  |        return self._combined(Counter(), lambda a, b: a)
  |    def __neg__(self):
  |        return self._combined(Counter(), lambda a, b: -a)
  |    def __iadd__(self, other):
  |        found = self + other
  |        self.clear()
  |        self.update(found)
  |        return self
  |    def __isub__(self, other):
  |        found = self - other
  |        self.clear()
  |        self.update(found)
  |        return self
  |    def __eq__(self, other):
  |        return all(self[k] == other[k] for c in (self, other) for k in c)
  |    def __le__(self, other):
  |        return all(self[k] <= other[k] for c in (self, other) for k in c)
  |    def __lt__(self, other):
  |        return self <= other and not self == other
  |    def __ge__(self, other):
  |        return all(self[k] >= other[k] for c in (self, other) for k in c)
  |    def __gt__(self, other):
  |        return self >= other and not self == other
  |
  |class deque:
  |    def __init__(self, iterable=(), maxlen=None):
  |        self._items = []
  |        self.maxlen = maxlen
  |        self.extend(iterable)
  |    def append(self, x):
  |        self._items.append(x)
  |        if self.maxlen is not None and len(self._items) > self.maxlen:
  |            del self._items[0]
  |    def appendleft(self, x):
  |        self._items.insert(0, x)
  |        if self.maxlen is not None and len(self._items) > self.maxlen:
  |            del self._items[-1]
  |    def extend(self, iterable):
  |        for x in list(iterable):
  |            self.append(x)
  |    def extendleft(self, iterable):
  |        for x in list(iterable):
  |            self.appendleft(x)
  |    def pop(self):
  |        if not self._items:
  |            raise IndexError('pop from an empty deque')
  |        return self._items.pop()
  |    def popleft(self):
  |        if not self._items:
  |            raise IndexError('pop from an empty deque')
  |        return self._items.pop(0)
  |    def clear(self):
  |        self._items.clear()
  |    def copy(self):
  |        return type(self)(self._items, self.maxlen)
  |    __copy__ = copy
  |    def count(self, x):
  |        return self._items.count(x)
  |    def index(self, x, *args):
  |        return self._items.index(x, *args)
  |    def insert(self, i, x):
  |        if self.maxlen is not None and len(self._items) >= self.maxlen:
  |            raise IndexError('deque already at its maximum size')
  |        self._items.insert(i, x)
  |    def remove(self, x):
  |        try:
  |            self._items.remove(x)
  |        except ValueError:
  |            raise ValueError('deque.remove(x): x not in deque') from None
  |    def reverse(self):
  |        self._items.reverse()
  |    def rotate(self, n=1):
  |        if self._items:
  |            n %= len(self._items)
  |            self._items[:] = self._items[-n:] + self._items[:-n] if n else self._items
  |    def __len__(self):
  |        return len(self._items)
  |    def __iter__(self):
  |        return iter(self._items)
  |    def __reversed__(self):
  |        return reversed(self._items)
  |    def __contains__(self, x):
  |        return x in self._items
  |    def __getitem__(self, i):
  |        try:
  |            return self._items[i]
  |        except IndexError:
  |            raise IndexError('deque index out of range') from None
  |    def __setitem__(self, i, x):
  |        try:
  |            self._items[i] = x
  |        except IndexError:
  |            raise IndexError('deque index out of range') from None
  |    def __delitem__(self, i):
  |        del self._items[i]
  |    def __iadd__(self, other):
  |        self.extend(other)
  |        return self
  |    def __add__(self, other):
  |        return type(self)(self._items + list(other), self.maxlen)
  |    def __mul__(self, n):
  |        return type(self)(self._items * n, self.maxlen)
  |    def __eq__(self, other):
  |        return isinstance(other, deque) and self._items == other._items
  |    def __lt__(self, other):
  |        return self._items < other._items
  |    def __repr__(self):
  |        if self.maxlen is None:
  |            return 'deque(%r)' % (self._items,)
  |        return 'deque(%r, maxlen=%d)' % (self._items, self.maxlen)
  |    __hash__ = None
  |
  |class ChainMap:
  |    def __init__(self, *maps):
  |        self.maps = list(maps) or [dict()]
  |    def __getitem__(self, key):
  |        for mapping in self.maps:
  |            if key in mapping:
  |                return mapping[key]
  |        return self.__missing__(key)
  |    def __missing__(self, key):
  |        raise KeyError(key)
  |    def get(self, key, default=None):
  |        return self[key] if key in self else default
  |    def __contains__(self, key):
  |        return any(key in m for m in self.maps)
  |    def _all(self):
  |        found = dict()
  |        for mapping in reversed(self.maps):
  |            found.update(dict.fromkeys(mapping))
  |        return found
  |    def __iter__(self):
  |        return iter(self._all())
  |    def __len__(self):
  |        return len(self._all())
  |    def keys(self):
  |        return self._all().keys()
  |    def values(self):
  |        return [self[k] for k in self]
  |    def items(self):
  |        return [(k, self[k]) for k in self]
  |    def __setitem__(self, key, value):
  |        self.maps[0][key] = value
  |    def __delitem__(self, key):
  |        try:
  |            del self.maps[0][key]
  |        except KeyError:
  |            raise KeyError('Key not found in the first mapping: %r' % key) from None
  |    def pop(self, key, *args):
  |        return self.maps[0].pop(key, *args)
  |    def new_child(self, m=None, **kwargs):
  |        m = dict() if m is None else m
  |        m.update(kwargs)
  |        return type(self)(m, *self.maps)
  |    @property
  |    def parents(self):
  |        return type(self)(*self.maps[1:])
  |    def __bool__(self):
  |        return any(self.maps)
  |    def __repr__(self):
  |        return 'ChainMap(' + ', '.join(map(repr, self.maps)) + ')'
  |
  |class UserDict:
  |    def __init__(self, dict=None, /, **kwargs):
  |        self.data = type(kwargs)()
  |        if dict is not None:
  |            self.update(dict)
  |        if kwargs:
  |            self.update(kwargs)
  |    def __len__(self):
  |        return len(self.data)
  |    def __getitem__(self, key):
  |        if key in self.data:
  |            return self.data[key]
  |        if hasattr(type(self), '__missing__'):
  |            return type(self).__missing__(self, key)
  |        raise KeyError(key)
  |    def __setitem__(self, key, item):
  |        self.data[key] = item
  |    def __delitem__(self, key):
  |        del self.data[key]
  |    def __iter__(self):
  |        return iter(self.data)
  |    def __contains__(self, key):
  |        return key in self.data
  |    def __repr__(self):
  |        return repr(self.data)
  |    def get(self, key, default=None):
  |        return self[key] if key in self else default
  |    def keys(self):
  |        return self.data.keys()
  |    def values(self):
  |        return [self[k] for k in self.data]
  |    def items(self):
  |        return [(k, self[k]) for k in self.data]
  |    def pop(self, key, *args):
  |        return self.data.pop(key, *args)
  |    def setdefault(self, key, default=None):
  |        if key not in self:
  |            self[key] = default
  |        return self[key]
  |    def update(self, other=(), **kwargs):
  |        for key, value in dict(other, **kwargs).items():
  |            self[key] = value
  |    def clear(self):
  |        self.data.clear()
  |    def copy(self):
  |        return type(self)(self.data)
  |    def __eq__(self, other):
  |        return self.data == (other.data if isinstance(other, UserDict) else other)
  |
  |class UserList:
  |    def __init__(self, initlist=None):
  |        self.data = list(initlist) if initlist is not None else []
  |    def __repr__(self):
  |        return repr(self.data)
  |    def __len__(self):
  |        return len(self.data)
  |    def __getitem__(self, i):
  |        return type(self)(self.data[i]) if isinstance(i, slice) else self.data[i]
  |    def __setitem__(self, i, item):
  |        self.data[i] = item
  |    def __delitem__(self, i):
  |        del self.data[i]
  |    def __iter__(self):
  |        return iter(self.data)
  |    def __contains__(self, item):
  |        return item in self.data
  |    def __add__(self, other):
  |        return type(self)(self.data + list(other))
  |    def __eq__(self, other):
  |        return self.data == (other.data if isinstance(other, UserList) else other)
  |    def __getattr__(self, name):
  |        if name == 'data':
  |            raise AttributeError(name)
  |        return getattr(self.data, name)
  |
  |class UserString:
  |    def __init__(self, seq):
  |        self.data = str(seq)
  |    def __str__(self):
  |        return self.data
  |    def __repr__(self):
  |        return repr(self.data)
  |    def __len__(self):
  |        return len(self.data)
  |    def __getitem__(self, i):
  |        return type(self)(self.data[i])
  |    def __contains__(self, item):
  |        return str(item) in self.data
  |    def __eq__(self, other):
  |        return self.data == str(other)
  |    def __hash__(self):
  |        return hash(self.data)
  |    def __add__(self, other):
  |        return type(self)(self.data + str(other))
  |    def __getattr__(self, name):
  |        if name == 'data':
  |            raise AttributeError(name)
  |        return getattr(self.data, name)"#

/-- What collections have in common. -/
def collectionKinds : String := r#"
  |from abc import ABCMeta, abstractmethod
  |
  |class _Told(ABCMeta):
  |    def __instancecheck__(cls, instance):
  |        return _Told.__subclasscheck__(cls, type(instance))
  |    def __subclasscheck__(cls, kind):
  |        if ABCMeta.__subclasscheck__(cls, kind):
  |            return True
  |        wanted = cls.__dict__.get('_wanted')
  |        return bool(wanted) and all(getattr(kind, name, None) is not None for name in wanted)
  |
  |class _Kind(metaclass=_Told):
  |    def __class_getitem__(cls, item):
  |        return cls
  |
  |class Hashable(_Kind):
  |    _wanted = ('__hash__',)
  |
  |class Sized(_Kind):
  |    _wanted = ('__len__',)
  |
  |class Container(_Kind):
  |    _wanted = ('__contains__',)
  |
  |class Callable(_Kind):
  |    _wanted = ('__call__',)
  |
  |class Awaitable(_Kind):
  |    _wanted = ('__await__',)
  |
  |class Coroutine(Awaitable):
  |    pass
  |
  |class AsyncIterable(_Kind):
  |    _wanted = ('__aiter__',)
  |
  |class AsyncIterator(AsyncIterable):
  |    _wanted = ('__aiter__', '__anext__')
  |    def __aiter__(self):
  |        return self
  |
  |class AsyncGenerator(AsyncIterator):
  |    pass
  |
  |class Buffer(_Kind):
  |    pass
  |
  |class Iterable(_Kind):
  |    _wanted = ('__iter__',)
  |    @abstractmethod
  |    def __iter__(self):
  |        while False:
  |            yield None
  |
  |class Iterator(Iterable):
  |    _wanted = ('__iter__', '__next__')
  |    @abstractmethod
  |    def __next__(self):
  |        raise StopIteration
  |    def __iter__(self):
  |        return self
  |
  |class Reversible(Iterable):
  |    _wanted = ('__iter__', '__reversed__')
  |
  |class Generator(Iterator):
  |    _wanted = ('__iter__', '__next__', 'send', 'throw', 'close')
  |    def __next__(self):
  |        return self.send(None)
  |    def close(self):
  |        try:
  |            self.throw(GeneratorExit)
  |        except (GeneratorExit, StopIteration):
  |            pass
  |        else:
  |            raise RuntimeError('generator ignored GeneratorExit')
  |
  |class Collection(Sized, Iterable, Container):
  |    _wanted = ('__len__', '__iter__', '__contains__')
  |
  |class Set(Collection):
  |    @classmethod
  |    def _from_iterable(cls, it):
  |        return cls(it)
  |    def __le__(self, other):
  |        if not isinstance(other, Set):
  |            return NotImplemented
  |        return len(self) <= len(other) and all(elem in other for elem in self)
  |    def __lt__(self, other):
  |        if not isinstance(other, Set):
  |            return NotImplemented
  |        return len(self) < len(other) and self.__le__(other)
  |    def __gt__(self, other):
  |        if not isinstance(other, Set):
  |            return NotImplemented
  |        return len(self) > len(other) and self.__ge__(other)
  |    def __ge__(self, other):
  |        if not isinstance(other, Set):
  |            return NotImplemented
  |        return len(self) >= len(other) and all(elem in self for elem in other)
  |    def __eq__(self, other):
  |        if not isinstance(other, Set):
  |            return NotImplemented
  |        return len(self) == len(other) and self.__le__(other)
  |    def __and__(self, other):
  |        if not isinstance(other, Iterable):
  |            return NotImplemented
  |        return self._from_iterable(value for value in other if value in self)
  |    __rand__ = __and__
  |    def isdisjoint(self, other):
  |        return not any(value in self for value in other)
  |    def __or__(self, other):
  |        if not isinstance(other, Iterable):
  |            return NotImplemented
  |        return self._from_iterable(e for s in (self, other) for e in s)
  |    __ror__ = __or__
  |    def __sub__(self, other):
  |        if not isinstance(other, Iterable):
  |            return NotImplemented
  |        held = list(other)
  |        return self._from_iterable(value for value in self if value not in held)
  |    def __rsub__(self, other):
  |        if not isinstance(other, Iterable):
  |            return NotImplemented
  |        return self._from_iterable(value for value in other if value not in self)
  |    def __xor__(self, other):
  |        if not isinstance(other, Iterable):
  |            return NotImplemented
  |        held = list(other)
  |        return self._from_iterable([v for v in self if v not in held]
  |                                   + [v for v in held if v not in self])
  |    __rxor__ = __xor__
  |
  |class MutableSet(Set):
  |    @abstractmethod
  |    def add(self, value):
  |        raise NotImplementedError
  |    @abstractmethod
  |    def discard(self, value):
  |        raise NotImplementedError
  |    def remove(self, value):
  |        if value not in self:
  |            raise KeyError(value)
  |        self.discard(value)
  |    def pop(self):
  |        for value in self:
  |            break
  |        else:
  |            raise KeyError
  |        self.discard(value)
  |        return value
  |    def clear(self):
  |        for value in list(self):
  |            self.discard(value)
  |    def __ior__(self, it):
  |        for value in it:
  |            self.add(value)
  |        return self
  |    def __iand__(self, it):
  |        for value in list(self - it):
  |            self.discard(value)
  |        return self
  |    def __isub__(self, it):
  |        for value in list(it):
  |            self.discard(value)
  |        return self
  |
  |class Mapping(Collection):
  |    @abstractmethod
  |    def __getitem__(self, key):
  |        raise KeyError
  |    def get(self, key, default=None):
  |        try:
  |            return self[key]
  |        except KeyError:
  |            return default
  |    def __contains__(self, key):
  |        try:
  |            self[key]
  |        except KeyError:
  |            return False
  |        return True
  |    def keys(self):
  |        return KeysView(self)
  |    def items(self):
  |        return ItemsView(self)
  |    def values(self):
  |        return ValuesView(self)
  |    def __eq__(self, other):
  |        if not isinstance(other, Mapping):
  |            return NotImplemented
  |        return dict(self.items()) == dict(other.items())
  |
  |class MappingView(Sized):
  |    def __init__(self, mapping):
  |        self._mapping = mapping
  |    def __len__(self):
  |        return len(self._mapping)
  |    def __repr__(self):
  |        return '%s(%r)' % (type(self).__name__, self._mapping)
  |
  |class KeysView(MappingView, Set):
  |    @classmethod
  |    def _from_iterable(cls, it):
  |        return set(it)
  |    def __contains__(self, key):
  |        return key in self._mapping
  |    def __iter__(self):
  |        yield from self._mapping
  |
  |class ItemsView(MappingView, Set):
  |    @classmethod
  |    def _from_iterable(cls, it):
  |        return set(it)
  |    def __contains__(self, item):
  |        key, value = item
  |        try:
  |            v = self._mapping[key]
  |        except KeyError:
  |            return False
  |        return v is value or v == value
  |    def __iter__(self):
  |        for key in self._mapping:
  |            yield (key, self._mapping[key])
  |
  |class ValuesView(MappingView, Collection):
  |    def __contains__(self, value):
  |        return any(v is value or v == value for v in self)
  |    def __iter__(self):
  |        for key in self._mapping:
  |            yield self._mapping[key]
  |
  |_marker = object()
  |
  |class MutableMapping(Mapping):
  |    @abstractmethod
  |    def __setitem__(self, key, value):
  |        raise KeyError
  |    @abstractmethod
  |    def __delitem__(self, key):
  |        raise KeyError
  |    def pop(self, key, default=_marker):
  |        try:
  |            value = self[key]
  |        except KeyError:
  |            if default is _marker:
  |                raise
  |            return default
  |        del self[key]
  |        return value
  |    def popitem(self):
  |        for key in self:
  |            value = self[key]
  |            del self[key]
  |            return key, value
  |        raise KeyError
  |    def clear(self):
  |        while len(self):
  |            self.popitem()
  |    def update(self, other=(), /, **kwds):
  |        if isinstance(other, Mapping) or hasattr(other, 'keys'):
  |            for key in other.keys():
  |                self[key] = other[key]
  |        else:
  |            for key, value in other:
  |                self[key] = value
  |        for key, value in kwds.items():
  |            self[key] = value
  |    def setdefault(self, key, default=None):
  |        try:
  |            return self[key]
  |        except KeyError:
  |            self[key] = default
  |        return default
  |
  |class Sequence(Reversible, Collection):
  |    @abstractmethod
  |    def __getitem__(self, index):
  |        raise IndexError
  |    def __iter__(self):
  |        i = 0
  |        try:
  |            while True:
  |                yield self[i]
  |                i += 1
  |        except IndexError:
  |            return
  |    def __contains__(self, value):
  |        return any(v is value or v == value for v in self)
  |    def __reversed__(self):
  |        for i in reversed(range(len(self))):
  |            yield self[i]
  |    def index(self, value, start=0, stop=None):
  |        for i in range(start, len(self) if stop is None else stop):
  |            if self[i] is value or self[i] == value:
  |                return i
  |        raise ValueError
  |    def count(self, value):
  |        return sum(1 for v in self if v is value or v == value)
  |
  |class ByteString(Sequence):
  |    pass
  |
  |class MutableSequence(Sequence):
  |    @abstractmethod
  |    def __setitem__(self, index, value):
  |        raise IndexError
  |    @abstractmethod
  |    def __delitem__(self, index):
  |        raise IndexError
  |    @abstractmethod
  |    def insert(self, index, value):
  |        raise IndexError
  |    def append(self, value):
  |        self.insert(len(self), value)
  |    def clear(self):
  |        while len(self):
  |            self.pop()
  |    def reverse(self):
  |        n = len(self)
  |        for i in range(n // 2):
  |            self[i], self[n - i - 1] = self[n - i - 1], self[i]
  |    def extend(self, values):
  |        for value in list(values):
  |            self.append(value)
  |    def pop(self, index=-1):
  |        value = self[index]
  |        del self[index]
  |        return value
  |    def remove(self, value):
  |        del self[self.index(value)]
  |    def __iadd__(self, values):
  |        self.extend(values)
  |        return self
  |
  |for _cls, _kinds in ((Set, (set, frozenset, type(dict().keys()), type(dict().items()))),
  |                     (MutableSet, (set,)), (Mapping, (dict,)), (MutableMapping, (dict,)),
  |                     (Sequence, (str, bytes, bytearray, tuple, list, range)),
  |                     (ByteString, (bytes, bytearray)), (Buffer, (bytes, bytearray)),
  |                     (MutableSequence, (list, bytearray)), (KeysView, (type(dict().keys()),)),
  |                     (ItemsView, (type(dict().items()),)),
  |                     (ValuesView, (type(dict().values()),))):
  |    for _kind in _kinds:
  |        _cls.register(_kind)"#

/-- Lists whose least value stands first. -/
def heaps : String := r#"
  |def heappush(heap, item):
  |    heap.append(item)
  |    _down(heap, 0, len(heap) - 1)
  |
  |def heappop(heap):
  |    last = heap.pop()
  |    if heap:
  |        found = heap[0]
  |        heap[0] = last
  |        _up(heap, 0)
  |        return found
  |    return last
  |
  |def heapreplace(heap, item):
  |    found = heap[0]
  |    heap[0] = item
  |    _up(heap, 0)
  |    return found
  |
  |def heappushpop(heap, item):
  |    if heap and heap[0] < item:
  |        item, heap[0] = heap[0], item
  |        _up(heap, 0)
  |    return item
  |
  |def heapify(x):
  |    for i in reversed(range(len(x) // 2)):
  |        _up(x, i)
  |
  |def _down(heap, start, pos):
  |    new = heap[pos]
  |    while pos > start:
  |        parentpos = (pos - 1) >> 1
  |        parent = heap[parentpos]
  |        if new < parent:
  |            heap[pos] = parent
  |            pos = parentpos
  |            continue
  |        break
  |    heap[pos] = new
  |
  |def _up(heap, pos):
  |    end = len(heap)
  |    start = pos
  |    new = heap[pos]
  |    child = 2 * pos + 1
  |    while child < end:
  |        right = child + 1
  |        if right < end and not heap[child] < heap[right]:
  |            child = right
  |        heap[pos] = heap[child]
  |        pos = child
  |        child = 2 * pos + 1
  |    heap[pos] = new
  |    _down(heap, start, pos)
  |
  |def merge(*iterables, key=None, reverse=False):
  |    found = []
  |    for it in iterables:
  |        found.extend(it)
  |    found.sort(key=key, reverse=reverse)
  |    return iter(found)
  |
  |def nlargest(n, iterable, key=None):
  |    return sorted(iterable, key=key, reverse=True)[:n]
  |
  |def nsmallest(n, iterable, key=None):
  |    return sorted(iterable, key=key)[:n]"#

/-- Places in sorted lists. -/
def halving : String := r#"
  |def bisect_right(a, x, lo=0, hi=None, *, key=None):
  |    if lo < 0:
  |        raise ValueError('lo must be non-negative')
  |    if hi is None:
  |        hi = len(a)
  |    while lo < hi:
  |        mid = (lo + hi) // 2
  |        value = a[mid] if key is None else key(a[mid])
  |        if x < value:
  |            hi = mid
  |        else:
  |            lo = mid + 1
  |    return lo
  |
  |def bisect_left(a, x, lo=0, hi=None, *, key=None):
  |    if lo < 0:
  |        raise ValueError('lo must be non-negative')
  |    if hi is None:
  |        hi = len(a)
  |    while lo < hi:
  |        mid = (lo + hi) // 2
  |        value = a[mid] if key is None else key(a[mid])
  |        if value < x:
  |            lo = mid + 1
  |        else:
  |            hi = mid
  |    return lo
  |
  |def insort_right(a, x, lo=0, hi=None, *, key=None):
  |    a.insert(bisect_right(a, x if key is None else key(x), lo, hi, key=key), x)
  |
  |def insort_left(a, x, lo=0, hi=None, *, key=None):
  |    a.insert(bisect_left(a, x if key is None else key(x), lo, hi, key=key), x)
  |
  |bisect = bisect_right
  |insort = insort_right"#

/-- Copies of values. -/
def copies : String := r#"
  |class Error(Exception):
  |    pass
  |
  |error = Error
  |_plain = (int, float, bool, str, bytes, type, range, type(None), type(Ellipsis),
  |          type(NotImplemented), type(len), type(lambda: 0), property)
  |
  |def copy(x):
  |    cls = type(x)
  |    if isinstance(x, type) or cls in _plain or cls in (tuple, frozenset):
  |        return x
  |    if cls in (list, dict, set, bytearray):
  |        return x.copy()
  |    if hasattr(cls, '__copy__'):
  |        return x.__copy__()
  |    return _rebuilt(x, None)
  |
  |def _rebuilt(x, memo):
  |    cls = type(x)
  |    if isinstance(x, tuple):
  |        found = tuple.__new__(cls, tuple(x) if memo is None
  |                              else tuple(deepcopy(v, memo) for v in x))
  |    elif isinstance(x, BaseException):
  |        found = cls.__new__(cls, *x.args)
  |    elif isinstance(x, (str, int, float, bytes, frozenset)):
  |        found = cls.__new__(cls, x)
  |    else:
  |        found = cls.__new__(cls)
  |    if memo is not None:
  |        memo[id(x)] = found
  |    if isinstance(x, dict):
  |        for key, value in dict.items(x):
  |            if memo is not None:
  |                key, value = deepcopy(key, memo), deepcopy(value, memo)
  |            dict.__setitem__(found, key, value)
  |    elif isinstance(x, list):
  |        for value in list.__iter__(x):
  |            list.append(found, value if memo is None else deepcopy(value, memo))
  |    elif isinstance(x, set):
  |        for value in set.__iter__(x):
  |            set.add(found, value if memo is None else deepcopy(value, memo))
  |    for name, value in list(x.__dict__.items()):
  |        object.__setattr__(found, name, value if memo is None else deepcopy(value, memo))
  |    return found
  |
  |def deepcopy(x, memo=None):
  |    if memo is None:
  |        memo = dict()
  |    key = id(x)
  |    if key in memo:
  |        return memo[key]
  |    cls = type(x)
  |    if isinstance(x, type) or cls in _plain:
  |        return x
  |    if cls is list:
  |        found = []
  |        memo[key] = found
  |        for value in x:
  |            found.append(deepcopy(value, memo))
  |    elif cls is dict:
  |        found = dict()
  |        memo[key] = found
  |        for k, v in x.items():
  |            found[deepcopy(k, memo)] = deepcopy(v, memo)
  |    elif cls is tuple:
  |        found = tuple([deepcopy(value, memo) for value in x])
  |    elif cls is set:
  |        found = set(deepcopy(value, memo) for value in x)
  |    elif cls is frozenset:
  |        found = frozenset(deepcopy(value, memo) for value in x)
  |    elif cls is bytearray:
  |        found = x.copy()
  |    elif hasattr(cls, '__deepcopy__'):
  |        found = x.__deepcopy__(memo)
  |    elif isinstance(x, object) and hasattr(x, '__dict__'):
  |        found = _rebuilt(x, memo)
  |    else:
  |        return x
  |    memo[key] = found
  |    return found
  |
  |def replace(obj, **changes):
  |    return obj.__replace__(**changes)"#

end BuiltinWrappers.Script.Indented.Library
